import QuestFlow.Proofs.Files.Listing

/-!
# Files that come to be

1. **The order in which files come to be** is not seen: in trees that have the same at each place,
   paths lead to the same (`SameFiles.resolve`), and so the quests load alike
   (`loadQuests_of_sameFiles`).  Entries in another order are such a tree (`sameFiles_of_perm`).
2. **One more file that holds no quest** disturbs nothing: the catalog is the same
   (`loadCatalog_of_grows`), the quests are the same, and the file takes its place among the
   broken ones (`loadQuests_of_grows`).  So the report is the same with one broken file more
   (`check_of_grows`).
-/

namespace QuestFlow

/-- A path that is not in a rising list has a place in it. -/
theorem Path.exists_split {p : Path} {ps : List Path} (hrises : ps.Pairwise Path.Before)
    (hnew : p ∉ ps) : ∃ before after, ps = before ++ after ∧
      (before ++ p :: after).Pairwise Path.Before := by
  induction ps with
  | nil => exact ⟨[], [], rfl, List.pairwise_singleton _ _⟩
  | cons q ps ih =>
    have hne : p ≠ q := fun heq => hnew (heq ▸ List.mem_cons_self)
    obtain ⟨hfirst, hrest⟩ := List.pairwise_cons.1 hrises
    by_cases hle : p.le q = true
    · -- it comes before the first, and so before all
      refine ⟨[], q :: ps, rfl, List.pairwise_cons.2 ⟨?_, hrises⟩⟩
      intro r hr
      rcases List.mem_cons.1 hr with rfl | hr
      · exact ⟨hle, hne⟩
      · refine ⟨le_trans hle (hfirst r hr).1, ?_⟩
        rintro rfl
        exact hnew (List.mem_cons_of_mem q hr)
    · have hqp : q.Before p := by
        refine ⟨?_, hne.symm⟩
        have htotal := le_total p q
        rw [Bool.or_eq_true] at htotal
        exact htotal.resolve_left hle
      obtain ⟨before, after, rfl, hsorted⟩ :=
        ih hrest fun hmem => hnew (List.mem_cons_of_mem q hmem)
      refine ⟨q :: before, after, rfl, List.pairwise_cons.2 ⟨?_, hsorted⟩⟩
      intro r (hr : r ∈ before ++ p :: after)
      rw [List.mem_append, List.mem_cons] at hr
      rcases hr with hr | rfl | hr
      · exact hfirst r (List.mem_append_left _ hr)
      · exact hqp
      · exact hfirst r (List.mem_append_right _ hr)

namespace FileTree

variable {t t' : FileTree} {dir p : Path} {place new rest : Place} {content : Content}
  {e : QuestError} {held : Except ReadFault Value}

/-- A tree with all that another one has still has a directory. -/
theorem directory_mono {role : SourceRole} (hstandpoint : t'.toStandpoint = t.toStandpoint)
    (hgrows : ∀ place e, t.entry? place = some e → t'.entry? place = some e)
    (hdir : t.directory role dir = .ok place) : t'.directory role dir = .ok place := by
  obtain ⟨hresolve, hplace⟩ := directory_eq_ok_iff.1 hdir
  exact directory_eq_ok_iff.2 ⟨(stands_of_grows hstandpoint hgrows).resolve hresolve,
    beq_iff_eq.2 (hgrows place _ (beq_iff_eq.1 hplace))⟩

/-- What reading gives at a place depends on what the program may do, and on nothing else in the
tree. -/
theorem readAt_congr (hstandpoint : t'.toStandpoint = t.toStandpoint) (place : Place)
    (e : FileEntry) : t'.readAt place e = t.readAt place e := by
  cases e <;> simp only [readAt, hstandpoint]

/-- A search that finds everything in a tree with all that another one has, finds everything in that
one too. -/
theorem Listed.of_keeps (hlisted : t'.Listed place)
    (hstandpoint : t'.toStandpoint = t.toStandpoint)
    (hkeeps : ∀ place e, t.entry? place = some e → t'.entry? place = some e) : t.Listed place where
  seen := by
    intro rest e hne hentry
    have hseen := hlisted.seen rest e hne (hkeeps _ e hentry)
    rwa [isSeen, hstandpoint] at hseen
  shallow := by
    intro rest hne hentry
    have hshallow := hlisted.shallow rest hne (hkeeps _ _ hentry)
    rwa [hstandpoint] at hshallow

/-! ## Trees with the same at each place -/

/-- Another tree with the same at each place. -/
structure SameFiles (t t' : FileTree) : Prop where
  wellFormed : t'.WellFormed
  standpoint : t'.toStandpoint = t.toStandpoint
  entry : ∀ place, t'.entry? place = t.entry? place

namespace SameFiles

variable (hsame : SameFiles t t')

include hsame

theorem walk (place : Place) (parts : List String) : t'.walk place parts = t.walk place parts := by
  induction parts generalizing place with
  | nil => rfl
  | cons part parts ih =>
    simp only [FileTree.walk, isDirectoryAt, hsame.entry, hsame.standpoint, ih]
    rfl

/-- **Paths lead to the same.** -/
theorem resolve (p : Path) : t'.resolve p = t.resolve p := by
  simp only [FileTree.resolve, FileTree.start, hsame.standpoint, hsame.walk]

theorem find? (p : Path) : t'.find? p = t.find? p := by
  simp only [FileTree.find?, hsame.resolve, hsame.entry]

theorem loadQuest (p : Path) : t'.loadQuest p = t.loadQuest p := by
  simp only [FileTree.loadQuest, read, hsame.resolve, hsame.entry, readAt_congr hsame.standpoint]

/-- There are the same quest files. -/
theorem isQuestFile_iff : t'.IsQuestFile dir place p held ↔ t.IsQuestFile dir place p held := by
  simp only [IsQuestFile, hsame.entry, readAt_congr hsame.standpoint]

theorem listed (hlisted : t.Listed place) : t'.Listed place :=
  hlisted.of_keeps hsame.standpoint.symm fun place _ hentry => (hsame.entry place).symm.trans hentry

theorem allFound (hall : t.AllFound dir place) : t'.AllFound dir place := by
  intro rest e hne hentry
  rw [hsame.entry] at hentry
  rw [hsame.find?]
  exact hall rest e hne hentry

end SameFiles

/-- **The order in which files come to be** is not seen. -/
theorem loadQuests_of_sameFiles (h : t.WellFormed) (hsame : SameFiles t t')
    (hdir : t.directory .quests dir = .ok place) (hlisted : t.Listed place)
    (hall : t.AllFound dir place) : t'.loadQuests dir = t.loadQuests dir := by
  have hdir' : t'.directory .quests dir = .ok place :=
    directory_mono hsame.standpoint (fun place _ hentry => (hsame.entry place).trans hentry) hdir
  have hbelow : t'.questPathsBelow dir place = t.questPathsBelow dir place := by
    refine eq_questPathsBelow h hlisted (pairwise_questPathsBelow hsame.wellFormed) fun p => ?_
    rw [mem_questPathsBelow_iff hsame.wellFormed (hsame.listed hlisted)]
    exact exists_congr fun held => hsame.isQuestFile_iff
  have hpaths : t'.questPaths dir = t.questPaths dir := by
    rw [questPaths_of_found h hdir hlisted hall, questPaths_of_found hsame.wellFormed hdir'
      (hsame.listed hlisted) (hsame.allFound hall), hbelow]
  have hbreakdown : t'.breakdownAt? = t.breakdownAt? := by
    funext p
    simp only [breakdownAt?, hsame.loadQuest]
  have hbroken : t'.brokenAt? = t.brokenAt? := by
    funext p
    rw [brokenAt?, hsame.loadQuest, brokenAt?]
  simp only [loadQuests, hpaths, hbreakdown, loadedAmong, brokenAmong, hbroken, hsame.loadQuest]

/-- Entries in another order are the same files. -/
theorem sameFiles_of_perm (h : t.WellFormed) (hstandpoint : t'.toStandpoint = t.toStandpoint)
    (hperm : t'.entries.Perm t.entries) : SameFiles t t' := by
  have hdistinct : (t'.entries.map (·.1)).Nodup := (hperm.map _).nodup_iff.2 h.distinct
  have hlookup : ∀ place, t'.entries.lookup place = t.entries.lookup place := by
    intro place
    cases hfound : t.entries.lookup place with
    | some e => exact lookup_of_mem hdistinct (hperm.mem_iff.2 (mem_of_lookup hfound))
    | none =>
      rw [List.lookup_eq_none_iff] at hfound ⊢
      exact fun p hp => hfound p (hperm.mem_iff.1 hp)
  have hentry : ∀ place, t'.entry? place = t.entry? place := by
    intro place
    simp only [FileTree.entry?, hstandpoint, hlookup]
  refine ⟨?_, hstandpoint, hentry⟩
  exact {
    distinct := hdistinct
    off := by
      intro place e hmem
      rw [hstandpoint]
      exact h.off place e (hperm.mem_iff.1 hmem)
    held := by
      intro place e hmem
      rw [isDirectoryAt, hentry]
      exact h.held place e (hperm.mem_iff.1 hmem)
    names := fun place e hmem => h.names place e (hperm.mem_iff.1 hmem)
    here := by
      rw [hstandpoint]
      exact h.here }

/-! ## One more file -/

/-- Another tree that has one more file, and all that the first one has.  There may be new
directories in it. -/
structure Grows (t t' : FileTree) (new : Place) (content : Content) : Prop where
  wellFormed : t'.WellFormed
  standpoint : t'.toStandpoint = t.toStandpoint
  keeps : ∀ place e, t.entry? place = some e → t'.entry? place = some e
  absent : t.entry? new = none
  file : t'.entry? new = some (.file content)
  /-- no other file is new -/
  only : ∀ place content', place ≠ new → t'.entry? place = some (.file content') →
    t.entry? place = some (.file content')

/-- A file that is put where nothing is. -/
theorem grows_put (habsent : t.entry? new = none)
    (hwf : (t.put new (.file content)).WellFormed) :
    Grows t (t.put new (.file content)) new content := by
  have hoff : new.isPrefixOf t.here = false := isPrefixOf_of_absent habsent
  exact {
    wellFormed := hwf
    standpoint := rfl
    keeps := by
      intro place e hentry
      have hne : place ≠ new := by
        rintro rfl
        rw [habsent] at hentry
        cases hentry
      rw [entry?_put_of_ne hne, hentry]
    absent := habsent
    file := entry?_put_self hoff
    only := fun place content' hne hentry => by rwa [entry?_put_of_ne hne] at hentry }

/-- A path to something in a directory takes one step from there. -/
theorem resolve_child (hdir : t.resolve dir = .ok place) (hplace : t.isDirectoryAt place = true)
    (name : String) : t.resolve (dir.child name) =
      if (dir.child name).hasZeroByte then .error .zeroByte
      else if (dir.child name).isTooLong then .error .nameTooLong
      else if t.unsearchable.contains place then .error .denied
      else if name = ".." then .ok place.dropLast
      else if nameLimit < name.utf8ByteSize then .error .nameTooLong
      else match t.entry? (place ++ [name]) with
        | some _ => .ok (place ++ [name])
        | none => .error .missing := by
  have hwalk : t.walk (t.start (dir.child name)) (dir.child name).parts = t.walk place [name] := by
    change t.walk (t.start dir) (dir.parts ++ [name]) = _
    rw [walk_append, (resolve_eq_ok_iff.1 hdir).2.2]
    rfl
  rw [resolve, hwalk, walk, hplace]
  cases t.entry? (place ++ [name]) <;> rfl

/-- **Nothing old is disturbed**: a path to something in a directory leads where it did in a tree
that grows, and what is there is the same, unless it leads to something new. -/
theorem resolve_child_of_grows {name : String} (hgrows : Grows t t' new content)
    (hdir : t.resolve dir = .ok place) (hplace : t.isDirectoryAt place = true)
    (hold : ∀ found, t'.resolve (dir.child name) = .ok found → t.entry? found ≠ none) :
    t'.resolve (dir.child name) = t.resolve (dir.child name) ∧
      ∀ found, t'.resolve (dir.child name) = .ok found → t'.entry? found = t.entry? found := by
  constructor
  · have hdir' := (stands_of_grows hgrows.standpoint hgrows.keeps).resolve hdir
    have hplace' : t'.isDirectoryAt place = true :=
      beq_iff_eq.2 (hgrows.keeps place _ (beq_iff_eq.1 hplace))
    rw [resolve_child hdir' hplace', hgrows.standpoint] at hold
    rw [resolve_child hdir' hplace', resolve_child hdir hplace, hgrows.standpoint]
    cases hentry : t.entry? (place ++ [name]) with
    | some e => rw [hgrows.keeps _ e hentry]
    | none =>
      cases hentry' : t'.entry? (place ++ [name]) with
      | none => rfl
      | some e =>
        -- a step to something new would have been told by the hypothesis
        rw [hentry'] at hold
        split_ifs at hold ⊢ <;> first | rfl | exact absurd hentry (hold _ rfl)
  · intro found hfound
    cases hentry : t.entry? found with
    | none => exact absurd hentry (hold found hfound)
    | some e => exact hgrows.keeps found e hentry

/-! ## The catalog -/

/-- A catalog file that is not new is loaded as before. -/
theorem loadIds_of_grows {kind : EntityKind} {name key : String}
    (hgrows : Grows t t' new content) (hdir : t.resolve dir = .ok place)
    (hplace : t.isDirectoryAt place = true)
    (hold : ∀ found, t'.resolve (dir.child name) = .ok found → t.entry? found ≠ none) :
    t'.loadIds kind (dir.child name) key = t.loadIds kind (dir.child name) key := by
  obtain ⟨hresolve, hentry⟩ := resolve_child_of_grows hgrows hdir hplace hold
  have hfind : t'.find? (dir.child name) = t.find? (dir.child name) := by
    rw [find?, find?, ← hresolve]
    cases hfound : t'.resolve (dir.child name) with
    | error fault => rfl
    | ok found => simp only [hentry found hfound]
  have hread : t'.read (dir.child name) = t.read (dir.child name) := by
    rw [read, read, ← hresolve]
    cases hfound : t'.resolve (dir.child name) with
    | error fault => rfl
    | ok found => simp only [hentry found hfound, readAt_congr hgrows.standpoint]
  rw [loadIds, loadIds, hfind, hread]

/-- **The catalog** is the same, unless one of its files is new. -/
theorem loadCatalog_of_grows (hgrows : Grows t t' new content)
    (hdir : t.directory (.catalog none) dir = .ok place)
    (hold : ∀ (kind : EntityKind) found,
      t'.resolve (dir.child kind.fileName) = .ok found → t.entry? found ≠ none) :
    t'.loadCatalog dir = t.loadCatalog dir := by
  obtain ⟨hresolve, hplace⟩ := directory_eq_ok_iff.1 hdir
  have hkinds : ∀ kinds, t'.loadKinds dir kinds = t.loadKinds dir kinds := by
    intro kinds
    induction kinds with
    | nil => rfl
    | cons kind kinds ih =>
      rw [loadKinds, loadKinds, ih, loadIds_of_grows hgrows hresolve hplace (hold kind)]
  rw [loadCatalog, loadCatalog, hdir, directory_mono hgrows.standpoint hgrows.keeps hdir, hkinds]

/-! ## The quests -/

/-- The quest files of a tree that grows are those that were there, and the new file. -/
theorem isQuestFile_of_grows (hgrows : Grows t t' (place ++ rest) content) (hne : rest ≠ [])
    (hsuffix : Path.suffixOf (dir.join ⟨.here, rest⟩).name ∈ questSuffixes) :
    t'.IsQuestFile dir place p held ↔ t.IsQuestFile dir place p held ∨
      p = dir.join ⟨.here, rest⟩ ∧ held = t'.readAt (place ++ rest) (.file content) := by
  constructor
  · rintro ⟨rest', content', hne', rfl, hsuffix', hentry, rfl⟩
    by_cases hnew : rest' = rest
    · subst hnew
      rw [hgrows.file] at hentry
      cases hentry
      exact .inr ⟨rfl, rfl⟩
    · have hplace : place ++ rest' ≠ place ++ rest := fun h => hnew (List.append_cancel_left h)
      exact .inl ⟨rest', content', hne', rfl, hsuffix', hgrows.only _ _ hplace hentry,
        readAt_congr hgrows.standpoint _ _⟩
  · rintro (⟨rest', content', hne', rfl, hsuffix', hentry, rfl⟩ | ⟨rfl, rfl⟩)
    · exact ⟨rest', content', hne', rfl, hsuffix', hgrows.keeps _ _ hentry,
        (readAt_congr hgrows.standpoint _ _).symm⟩
    · exact ⟨rest, content, hne, rfl, hsuffix, hgrows.file, rfl⟩

/-- Loading that comes to an end could look up everything below its directory, and the reader broke
down over nothing there. -/
theorem found_of_loadQuests (h : t.WellFormed) (hdir : t.directory .quests dir = .ok place)
    (hlisted : t.Listed place) {loaded : LoadedQuests}
    (hloaded : (t.loadQuests dir).value = .ok loaded) :
    t.AllFound dir place ∧ t.AllRead dir place := by
  obtain ⟨paths, hpaths, hnone, -⟩ := loadQuests_eq_ok_iff.1 hloaded
  have hall : t.AllFound dir place := by
    by_contra hlost
    obtain ⟨_, _, _, -, -, -, herror⟩ := questPaths_of_not_found h hdir hlisted hlost
    rw [hpaths] at herror
    cases herror
  rw [questPaths_of_found h hdir hlisted hall, Except.ok.injEq] at hpaths
  subst hpaths
  exact ⟨hall, (allRead_iff h hdir hlisted hall).2 hnone⟩

/-- Files that are loaded alike are sorted alike. -/
theorem loadedAmong_congr {paths : List Path}
    (hload : ∀ p ∈ paths, t'.loadQuest p = t.loadQuest p) :
    t'.loadedAmong paths = t.loadedAmong paths :=
  List.filterMap_congr fun p hp => by rw [hload p hp]

theorem brokenAmong_congr {paths : List Path}
    (hload : ∀ p ∈ paths, t'.loadQuest p = t.loadQuest p) :
    t'.brokenAmong paths = t.brokenAmong paths :=
  List.filterMap_congr fun p hp => by rw [brokenAt?, hload p hp, brokenAt?]

theorem loadedAmong_append (t : FileTree) (ps qs : List Path) :
    t.loadedAmong (ps ++ qs) = t.loadedAmong ps ++ t.loadedAmong qs :=
  List.filterMap_append ..

theorem brokenAmong_append (t : FileTree) (ps qs : List Path) :
    t.brokenAmong (ps ++ qs) = t.brokenAmong ps ++ t.brokenAmong qs :=
  List.filterMap_append ..

/-- A file that holds no quest is only a broken one. -/
theorem loadedAmong_cons_of_error (hload : t.loadQuest p = .error (.broken e)) (ps : List Path) :
    t.loadedAmong (p :: ps) = t.loadedAmong ps := by
  rw [loadedAmong, List.filterMap_cons, hload]
  rfl

theorem brokenAmong_cons_of_error (hload : t.loadQuest p = .error (.broken e)) (ps : List Path) :
    t.brokenAmong (p :: ps) = ⟨p, e.reason⟩ :: t.brokenAmong ps := by
  have hbroken : t.brokenAt? p = some ⟨p, e.reason⟩ := brokenAt?_eq_some_iff.2 ⟨rfl, e, hload, rfl⟩
  rw [brokenAmong, List.filterMap_cons_some hbroken, brokenAmong]

section

variable (h : t.WellFormed) (hgrows : Grows t t' (place ++ rest) content) (hne : rest ≠ [])
  (hsuffix : Path.suffixOf (dir.join ⟨.here, rest⟩).name ∈ questSuffixes)

include h hgrows hne hsuffix

/-- **The list of quest files** of a tree that grows is the old one, with the new file in it. -/
theorem exists_questPathsBelow_of_grows (hlisted' : t'.Listed place) :
    ∃ before after, t.questPathsBelow dir place = before ++ after ∧
      t'.questPathsBelow dir place = before ++ dir.join ⟨.here, rest⟩ :: after := by
  have hlisted := hlisted'.of_keeps hgrows.standpoint hgrows.keeps
  have hnew : dir.join ⟨.here, rest⟩ ∉ t.questPathsBelow dir place := by
    intro hmem
    obtain ⟨held, rest', content', -, hjoin, -, hentry, -⟩ :=
      (mem_questPathsBelow_iff h hlisted).1 hmem
    obtain rfl := join_injective hjoin
    rw [hgrows.absent] at hentry
    cases hentry
  obtain ⟨before, after, hsplit, hrises⟩ := Path.exists_split (pairwise_questPathsBelow h) hnew
  refine ⟨before, after, hsplit, (eq_questPathsBelow hgrows.wellFormed hlisted' hrises ?_).symm⟩
  intro p
  have hold : p ∈ before ++ after ↔ ∃ held, t.IsQuestFile dir place p held := by
    rw [← hsplit, mem_questPathsBelow_iff h hlisted]
  simp only [isQuestFile_of_grows hgrows hne hsuffix, exists_or, ← hold, List.mem_append,
    List.mem_cons]
  constructor
  · rintro (hmem | rfl | hmem)
    · exact .inl (.inl hmem)
    · exact .inr ⟨_, rfl, rfl⟩
    · exact .inl (.inr hmem)
  · rintro ((hmem | hmem) | ⟨_, rfl, -⟩)
    · exact .inl hmem
    · exact .inr (.inr hmem)
    · exact .inr (.inl rfl)

/-- An old file is loaded as before. -/
theorem loadQuest_of_grows (hresolve : t.resolve dir = .ok place)
    (hresolve' : t'.resolve dir = .ok place) (hall : t.AllFound dir place)
    (hall' : t'.AllFound dir place) (hfile : t.IsQuestFile dir place p held) :
    t'.loadQuest p = t.loadQuest p := by
  have hfile' : t'.IsQuestFile dir place p held :=
    (isQuestFile_of_grows hgrows hne hsuffix).2 (.inl hfile)
  rw [loadQuest_eq_questIn h hresolve hall hfile,
    loadQuest_eq_questIn hgrows.wellFormed hresolve' hall' hfile']

omit h in
/-- The reader breaks down over the new file no more than over the old ones, because it is a broken
one. -/
theorem allRead_of_grows (hread : t.AllRead dir place)
    (herror : questIn (dir.join ⟨.here, rest⟩) (t'.readAt (place ++ rest) (.file content)) =
      .error (.broken e)) : t'.AllRead dir place := by
  intro p fault hfile
  rcases (isQuestFile_of_grows hgrows hne hsuffix).1 hfile with hold | ⟨rfl, hheld⟩
  · exact hread p fault hold
  · rw [← hheld, questIn] at herror
    cases hbreakdown : fault.breakdown? (dir.join ⟨.here, rest⟩) with
    | none => rfl
    | some b => simp [hbreakdown] at herror

end

/-- **One more file that holds no quest** takes its place among the broken ones, and that is all. -/
theorem loadQuests_of_grows (h : t.WellFormed) (hgrows : Grows t t' (place ++ rest) content)
    (hne : rest ≠ []) (hp : p = dir.join ⟨.here, rest⟩)
    (hsuffix : Path.suffixOf p.name ∈ questSuffixes)
    (herror : questIn p (t'.readAt (place ++ rest) (.file content)) = .error (.broken e))
    (hdir : t.directory .quests dir = .ok place) (hlisted' : t'.Listed place)
    (hall' : t'.AllFound dir place) {loaded : LoadedQuests}
    (hloaded : (t.loadQuests dir).value = .ok loaded) :
    ∃ before after, loaded.broken = before ++ after ∧
      (t'.loadQuests dir).value = .ok
        { loaded with broken := before ++ ⟨p, e.reason⟩ :: after } ∧
      (∀ b ∈ before, b.path.Before p) ∧ ∀ b ∈ after, p.Before b.path := by
  subst hp
  have hlisted := hlisted'.of_keeps hgrows.standpoint hgrows.keeps
  have hdir' := directory_mono hgrows.standpoint hgrows.keeps hdir
  have hresolve' := (directory_eq_ok_iff.1 hdir').1
  obtain ⟨hall, hread⟩ := found_of_loadQuests h hdir hlisted hloaded
  obtain ⟨before, after, hsplit, hlist⟩ :=
    exists_questPathsBelow_of_grows h hgrows hne hsuffix hlisted'
  -- each old file is loaded as before, and the new one holds no quest
  have hload : ∀ p ∈ before ++ after, t'.loadQuest p = t.loadQuest p := by
    intro p hp
    rw [← hsplit] at hp
    obtain ⟨held, hfile⟩ := (mem_questPathsBelow_iff h hlisted).1 hp
    exact loadQuest_of_grows h hgrows hne hsuffix (directory_eq_ok_iff.1 hdir).1 hresolve' hall
      hall' hfile
  have hbroken : t'.loadQuest (dir.join ⟨.here, rest⟩) = .error (.broken e) := by
    rw [loadQuest_eq_questIn hgrows.wellFormed hresolve' hall'
      ((isQuestFile_of_grows hgrows hne hsuffix).2 (.inr ⟨rfl, rfl⟩)), herror]
  have hbefore : ∀ p ∈ before, t'.loadQuest p = t.loadQuest p := fun p hp =>
    hload p (List.mem_append_left _ hp)
  have hafter : ∀ p ∈ after, t'.loadQuest p = t.loadQuest p := fun p hp =>
    hload p (List.mem_append_right _ hp)
  have hthen : loaded = ⟨t.loadedAmong (before ++ after), t.brokenAmong (before ++ after)⟩ := by
    rw [loadQuests_of_questPaths (questPaths_of_found h hdir hlisted hall)
      ((allRead_iff h hdir hlisted hall).1 hread), hsplit] at hloaded
    exact (Except.ok.inj hloaded).symm
  have hnow : (t'.loadQuests dir).value = .ok
      ⟨t'.loadedAmong (before ++ dir.join ⟨.here, rest⟩ :: after),
        t'.brokenAmong (before ++ dir.join ⟨.here, rest⟩ :: after)⟩ := by
    have hread' := allRead_of_grows hgrows hne hsuffix hread herror
    rw [loadQuests_of_questPaths (questPaths_of_found hgrows.wellFormed hdir' hlisted' hall')
      ((allRead_iff hgrows.wellFormed hdir' hlisted' hall').1 hread'), hlist]
  have hrises : (before ++ dir.join ⟨.here, rest⟩ :: after).Pairwise Path.Before :=
    hlist ▸ pairwise_questPathsBelow hgrows.wellFormed
  refine ⟨t.brokenAmong before, t.brokenAmong after, ?_, ?_, ?_, ?_⟩
  · rw [hthen, brokenAmong_append]
  · rw [hnow, hthen, loadedAmong_append, loadedAmong_append, brokenAmong_append,
      loadedAmong_cons_of_error hbroken, brokenAmong_cons_of_error hbroken,
      loadedAmong_congr hbefore, loadedAmong_congr hafter, brokenAmong_congr hbefore,
      brokenAmong_congr hafter]
  · intro b hb
    exact (List.pairwise_append.1 hrises).2.2 _ (mem_brokenAmong_iff.1 hb).1 _ List.mem_cons_self
  · intro b hb
    have htail := (List.pairwise_append.1 hrises).2.1
    exact (List.pairwise_cons.1 htail).1 _ (mem_brokenAmong_iff.1 hb).1

/-! ## The report -/

/-- **A report with one broken file more** is what comes of one more file that holds no quest. -/
theorem check_of_grows {s : Settings} {r : Report} (h : t.WellFormed)
    (hgrows : Grows t t' (place ++ rest) content) (hne : rest ≠ [])
    (hp : p = s.questsDir.join ⟨.here, rest⟩) (hsuffix : Path.suffixOf p.name ∈ questSuffixes)
    (herror : questIn p (t'.readAt (place ++ rest) (.file content)) = .error (.broken e))
    (hold : ∀ (kind : EntityKind) found,
      t'.resolve (s.dataDir.child kind.fileName) = .ok found → t.entry? found ≠ none)
    (hdir : t.directory .quests s.questsDir = .ok place) (hlisted' : t'.Listed place)
    (hall' : t'.AllFound s.questsDir place) (hchecked : (t.check s).value = .ok r) :
    ∃ before after, r.brokenFiles = before ++ after ∧
      (t'.check s).value = .ok { r with brokenFiles := before ++ ⟨p, e.reason⟩ :: after } ∧
      (∀ b ∈ before, b.path.Before p) ∧ ∀ b ∈ after, p.Before b.path := by
  obtain ⟨catalog, loaded, hcatalog, hloaded, hreportable, rfl⟩ := check_eq_ok_iff.1 hchecked
  obtain ⟨before, after, hsplit, hloaded', hbefore, hafter⟩ :=
    loadQuests_of_grows h hgrows hne hp hsuffix herror hdir hlisted' hall' hloaded
  have hdata : ∃ place, t.directory (.catalog none) s.dataDir = .ok place := by
    rw [loadCatalog] at hcatalog
    cases hfound : t.directory (.catalog none) s.dataDir with
    | error e => simp [hfound] at hcatalog
    | ok place => exact ⟨place, rfl⟩
  obtain ⟨data, hdata⟩ := hdata
  have hcatalog' : (t'.loadCatalog s.dataDir).value = .ok catalog := by
    rw [loadCatalog_of_grows hgrows hdata hold, hcatalog]
  exact ⟨before, after, hsplit,
    check_eq_ok_iff.2 ⟨catalog, _, hcatalog', hloaded', hreportable, rfl⟩, hbefore, hafter⟩

end FileTree
end QuestFlow
