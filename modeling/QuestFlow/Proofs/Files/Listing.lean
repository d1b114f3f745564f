import QuestFlow.Proofs.Files.Checking
import QuestFlow.Proofs.Files.WellFormed
import QuestFlow.Proofs.Text.Order

/-!
# Which files are loaded

1. **Quest files** are the files below the quests directory, at any depth, whose names have one of
   the two endings (`IsQuestFile`).  What one holds is told by what reading gives at its place,
   because its path leads there (`loadQuest_eq_questIn`).
2. **What the search finds.**  It finds everything if every directory lists its names and none is
   nested too deep (`Listed`).  Then it ends without a result just when one of the paths cannot be
   looked up (`AllFound`, `questPaths_of_found`, `questPaths_of_not_found`).
3. **The list** of quest files is the one list of them that rises strictly, so it depends only on
   what is where (`eq_questPathsBelow`).
4. **Loading** sorts them into two lists, by whether they hold a quest, as long as the reader breaks
   down over none of them (`AllRead`, `handles_of_found`).
-/

namespace QuestFlow
namespace FileTree

variable {t t' : FileTree} {dir p : Path} {place : Place} {held : Except ReadFault Value}

/-! ## Quest files -/

/-- A file below the directory at a place, whose name has one of the endings of quest files, and
what reading it gives. -/
def IsQuestFile (t : FileTree) (dir : Path) (place : Place) (p : Path)
    (held : Except ReadFault Value) : Prop :=
  ∃ rest content, rest ≠ [] ∧ p = dir.join ⟨.here, rest⟩ ∧ Path.suffixOf p.name ∈ questSuffixes ∧
    t.entry? (place ++ rest) = some (.file content) ∧
    held = t.readAt (place ++ rest) (.file content)

/-- The search finds everything below a directory: each directory lists its names, and none is
nested too deep. -/
structure Listed (t : FileTree) (place : Place) : Prop where
  seen : ∀ rest e, rest ≠ [] → t.entry? (place ++ rest) = some e → t.isSeen place rest = true
  shallow : ∀ rest, rest ≠ [] → t.entry? (place ++ rest) = some .directory →
    rest.length ≤ t.searchDepth

/-- The paths of all that is below a directory can be looked up. -/
def AllFound (t : FileTree) (dir : Path) (place : Place) : Prop :=
  ∀ rest e, rest ≠ [] → t.entry? (place ++ rest) = some e →
    ∃ found, t.find? (dir.join ⟨.here, rest⟩) = .ok found

/-- The reader breaks down over none of the quest files. -/
def AllRead (t : FileTree) (dir : Path) (place : Place) : Prop :=
  ∀ p fault, t.IsQuestFile dir place p (.error fault) → fault.breakdown? p = none

/-- The name of a path below a directory is the last one on the way. -/
theorem name_join {rest : Place} (hne : rest ≠ []) :
    (dir.join ⟨.here, rest⟩).name = rest.getLast?.getD "" := by
  have hjoin : dir.join ⟨.here, rest⟩ = ⟨dir.anchor, dir.parts ++ rest⟩ := rfl
  rw [hjoin, Path.name, List.getLast?_append_of_ne_nil _ hne]

theorem join_injective {rest rest' : Place}
    (h : dir.join ⟨.here, rest⟩ = dir.join ⟨.here, rest'⟩) : rest = rest' := by
  have hparts : dir.parts ++ rest = dir.parts ++ rest' := congrArg Path.parts h
  exact List.append_cancel_left hparts

theorem anchor_of_isQuestFile (hfile : t.IsQuestFile dir place p held) :
    p.anchor = dir.anchor := by
  obtain ⟨rest, content, -, rfl, -⟩ := hfile
  rfl

/-- A quest file holds one thing. -/
theorem IsQuestFile.held_eq {held' : Except ReadFault Value}
    (hfile : t.IsQuestFile dir place p held) (hfile' : t.IsQuestFile dir place p held') :
    held = held' := by
  obtain ⟨rest, content, -, hp, -, hentry, rfl⟩ := hfile
  obtain ⟨rest', content', -, hp', -, hentry', rfl⟩ := hfile'
  obtain rfl := join_injective (hp.symm.trans hp')
  rw [hentry] at hentry'
  cases hentry'
  rfl

/-- **What a quest file holds** is what loading it gives. -/
theorem loadQuest_eq_questIn (h : t.WellFormed) (hdir : t.resolve dir = .ok place)
    (hall : t.AllFound dir place) (hfile : t.IsQuestFile dir place p held) :
    t.loadQuest p = questIn p held := by
  obtain ⟨rest, content, hne, rfl, -, hentry, rfl⟩ := hfile
  obtain ⟨found, hfound⟩ := hall rest _ hne hentry
  rw [loadQuest, read, h.resolve_join hdir hentry hfound]
  simp only [hentry]

/-! ## What the search finds -/

theorem directory_eq_ok_iff {role : SourceRole} :
    t.directory role dir = .ok place ↔
      t.resolve dir = .ok place ∧ t.isDirectoryAt place = true := by
  rw [directory]
  cases t.resolve dir with
  | error fault => cases fault <;> simp [PathFault.isAbsence]
  | ok found =>
    dsimp only
    split
    · rename_i hfound
      simp only [Except.ok.injEq]
      constructor
      · rintro rfl
        exact ⟨rfl, hfound⟩
      · exact fun h => h.1
    · rename_i hfound
      simp only [reduceCtorEq, Except.ok.injEq, false_iff, not_and]
      rintro rfl
      exact hfound

theorem mem_seenBelow_iff (h : t.WellFormed) {rest : Place} {e : FileEntry} :
    (rest, e) ∈ t.seenBelow place ↔
      rest ≠ [] ∧ t.entry? (place ++ rest) = some e ∧ t.isSeen place rest = true := by
  rw [seenBelow, List.mem_filter, h.mem_below_iff, and_assoc]

/-- It is enough to look at what is listed below the directory. -/
theorem listed_iff (h : t.WellFormed) : t.Listed place ↔ ∀ x ∈ t.below place,
    t.isSeen place x.1 = true ∧ (x.2 = .directory → x.1.length ≤ t.searchDepth) := by
  constructor
  · intro hlisted x hx
    obtain ⟨hne, hentry⟩ := h.mem_below_iff.1 hx
    exact ⟨hlisted.seen x.1 x.2 hne hentry, fun hdir => hlisted.shallow x.1 hne (hdir ▸ hentry)⟩
  · intro hall
    refine ⟨fun rest e hne hentry => ?_, fun rest hne hentry => ?_⟩
    · exact (hall (rest, e) (h.mem_below_iff.2 ⟨hne, hentry⟩)).1
    · exact (hall (rest, .directory) (h.mem_below_iff.2 ⟨hne, hentry⟩)).2 rfl

theorem allFound_iff (h : t.WellFormed) : t.AllFound dir place ↔
    ∀ x ∈ t.below place, (t.find? (dir.join ⟨.here, x.1⟩)).isOk = true := by
  have hok : ∀ p, (∃ found, t.find? p = .ok found) ↔ (t.find? p).isOk = true := by
    intro p
    cases t.find? p <;> simp [Except.isOk, Except.toBool]
  constructor
  · intro hall x hx
    obtain ⟨hne, hentry⟩ := h.mem_below_iff.1 hx
    exact (hok _).1 (hall x.1 x.2 hne hentry)
  · intro hall rest e hne hentry
    exact (hok _).2 (hall (rest, e) (h.mem_below_iff.2 ⟨hne, hentry⟩))

theorem isTooDeep_eq_false (h : t.WellFormed) (hlisted : t.Listed place) :
    t.isTooDeep place = false := by
  rw [isTooDeep, List.any_eq_false]
  rintro ⟨rest, e⟩ hmem
  obtain ⟨hne, hentry, -⟩ := (mem_seenBelow_iff h).1 hmem
  rw [Bool.and_eq_true, beq_iff_eq, decide_eq_true_eq]
  rintro ⟨rfl, hdeep⟩
  exact Nat.not_lt.2 (hlisted.shallow rest hne hentry) hdeep

/-- The search names a path that cannot be looked up, if there is one. -/
theorem unreachableBelow?_eq_none_iff (h : t.WellFormed) (hlisted : t.Listed place) :
    t.unreachableBelow? dir place = none ↔ t.AllFound dir place := by
  rw [unreachableBelow?, List.findSome?_eq_none_iff]
  simp only [List.mem_mergeSort, List.mem_map]
  constructor
  · intro hall rest e hne hentry
    have hquiet := hall _ ⟨(rest, e),
      (mem_seenBelow_iff h).2 ⟨hne, hentry, hlisted.seen rest e hne hentry⟩, rfl⟩
    cases hfind : t.find? (dir.join ⟨.here, rest⟩) with
    | ok found => exact ⟨found, rfl⟩
    | error fault => simp [hfind] at hquiet
  · rintro hall _ ⟨⟨rest, e⟩, hmem, rfl⟩
    obtain ⟨hne, hentry, -⟩ := (mem_seenBelow_iff h).1 hmem
    obtain ⟨found, hfound⟩ := hall rest e hne hentry
    simp only [hfound]

theorem unreachableBelow?_eq_some (h : t.WellFormed) {fault : PathFault}
    (hlost : t.unreachableBelow? dir place = some (p, fault)) :
    t.find? p = .error fault ∧ ∃ rest e, rest ≠ [] ∧ t.entry? (place ++ rest) = some e ∧
      p = dir.join ⟨.here, rest⟩ := by
  obtain ⟨p', hmem, hsome⟩ := List.exists_of_findSome?_eq_some hlost
  rw [List.mem_mergeSort] at hmem
  obtain ⟨⟨rest, e⟩, hseen, rfl⟩ := List.mem_map.1 hmem
  obtain ⟨hne, hentry, -⟩ := (mem_seenBelow_iff h).1 hseen
  cases hfind : t.find? (dir.join ⟨.here, rest⟩) with
  | ok found => simp [hfind] at hsome
  | error fault' =>
    simp only [hfind, Option.some.injEq, Prod.mk.injEq] at hsome
    obtain ⟨rfl, rfl⟩ := hsome
    exact ⟨hfind, rest, e, hne, hentry, rfl⟩

/-- **The search** comes to the list of quest files if everything below the directory can be looked
up, and names a path that cannot be otherwise. -/
theorem questPaths_of_found (h : t.WellFormed) (hdir : t.directory .quests dir = .ok place)
    (hlisted : t.Listed place) (hall : t.AllFound dir place) :
    t.questPaths dir = .ok (t.questPathsBelow dir place) := by
  rw [questPaths, hdir]
  simp [Except.bind, (unreachableBelow?_eq_none_iff h hlisted).2 hall,
    isTooDeep_eq_false h hlisted]

theorem questPaths_of_not_found (h : t.WellFormed) (hdir : t.directory .quests dir = .ok place)
    (hlisted : t.Listed place) (hlost : ¬ t.AllFound dir place) :
    ∃ rest e fault, rest ≠ [] ∧ t.entry? (place ++ rest) = some e ∧
      t.find? (dir.join ⟨.here, rest⟩) = .error fault ∧
      t.questPaths dir =
        .error (.source ⟨.quests, dir, .unreachable (dir.join ⟨.here, rest⟩) fault⟩) := by
  cases hsome : t.unreachableBelow? dir place with
  | none => exact absurd ((unreachableBelow?_eq_none_iff h hlisted).1 hsome) hlost
  | some pair =>
    obtain ⟨p, fault⟩ := pair
    obtain ⟨hfind, rest, e, hne, hentry, rfl⟩ := unreachableBelow?_eq_some h hsome
    refine ⟨rest, e, fault, hne, hentry, hfind, ?_⟩
    rw [questPaths, hdir]
    simp only [Except.bind, hsome]

/-! ## The list of quest files -/

theorem mem_questPathsBelow_iff (h : t.WellFormed) (hlisted : t.Listed place) :
    p ∈ t.questPathsBelow dir place ↔ ∃ held, t.IsQuestFile dir place p held := by
  rw [questPathsBelow, List.mem_mergeSort, List.mem_map]
  constructor
  · rintro ⟨⟨rest, e⟩, hmem, rfl⟩
    obtain ⟨hmem, hcond⟩ := List.mem_filter.1 hmem
    obtain ⟨hne, hentry, -⟩ := (mem_seenBelow_iff h).1 hmem
    rw [Bool.and_eq_true] at hcond
    cases e with
    | directory => simp at hcond
    | file content =>
      refine ⟨_, rest, content, hne, rfl, ?_, hentry, rfl⟩
      rw [name_join hne]
      exact List.contains_iff_mem.1 hcond.2
  · rintro ⟨held, rest, content, hne, rfl, hsuffix, hentry, -⟩
    refine ⟨(rest, .file content), List.mem_filter.2
      ⟨(mem_seenBelow_iff h).2 ⟨hne, hentry, hlisted.seen rest _ hne hentry⟩, ?_⟩, rfl⟩
    rw [name_join hne] at hsuffix
    simp only [isQuestPlace, List.contains_iff_mem.2 hsuffix, Bool.and_true]
    rfl

/-- The quest files rise strictly. -/
theorem pairwise_questPathsBelow (h : t.WellFormed) :
    (t.questPathsBelow dir place).Pairwise Path.Before := by
  refine Path.pairwise_before_mergeSort ?_
  have hnodup : ∀ keep : Place × FileEntry → Bool,
      (((t.seenBelow place).filter keep).map (·.1)).Nodup := fun keep =>
    ((List.filter_sublist.trans List.filter_sublist).map _).nodup (h.nodup_below place)
  have hmap := fun keep =>
    (hnodup keep).map (f := fun rest => dir.join ⟨.here, rest⟩) fun _ _ => join_injective
  simp only [List.map_map] at hmap
  exact hmap _

/-- The list of quest files is the only one of them that rises strictly. -/
theorem eq_questPathsBelow (h : t.WellFormed) (hlisted : t.Listed place) {ps : List Path}
    (hrises : ps.Pairwise Path.Before)
    (hmem : ∀ p, p ∈ ps ↔ ∃ held, t.IsQuestFile dir place p held) :
    ps = t.questPathsBelow dir place := by
  have hanchor : ∀ p ∈ ps, p.anchor = dir.anchor := by
    intro p hp
    obtain ⟨held, hfile⟩ := (hmem p).1 hp
    exact anchor_of_isQuestFile hfile
  refine Path.eq_of_pairwise_before hrises (pairwise_questPathsBelow h) hanchor ?_
  intro p
  rw [hmem, mem_questPathsBelow_iff h hlisted]

/-! ## Loading -/

/-- What loading a directory has to give: the quests in the files that hold one, and the files that
hold none, each once and in rising order. -/
structure Handles (t : FileTree) (dir : Path) (place : Place) (loaded : LoadedQuests) : Prop where
  /-- the quests are those of the files that hold one, and know their files -/
  quests : ∀ q, q ∈ loaded.quests ↔
    ∃ p held, t.IsQuestFile dir place p held ∧ questIn p held = .ok q
  sources : ∀ q ∈ loaded.quests, ∃ p held, q.source = some p ∧
    t.IsQuestFile dir place p held ∧ questIn p held = .ok q
  /-- the broken files are the others, and say why -/
  broken : ∀ b, b ∈ loaded.broken ↔ ∃ held e, t.IsQuestFile dir place b.path held ∧
    questIn b.path held = .error (.broken e) ∧ b.reason = e.reason
  risingQuests : (loaded.quests.filterMap (·.source)).Pairwise Path.Before
  risingBroken : (loaded.broken.map (·.path)).Pairwise Path.Before
  disjoint : ∀ q ∈ loaded.quests, ∀ b ∈ loaded.broken, q.source ≠ some b.path

variable {paths : List Path} {q : Quest} {b : BrokenFile}

theorem mem_loadedAmong_iff : q ∈ t.loadedAmong paths ↔ ∃ p ∈ paths, t.loadQuest p = .ok q := by
  rw [loadedAmong, List.mem_filterMap]
  refine exists_congr fun p => and_congr_right fun _ => ?_
  cases t.loadQuest p <;> simp [Except.toOption]

theorem brokenAt?_eq_some_iff : t.brokenAt? p = some b ↔
    b.path = p ∧ ∃ e, t.loadQuest p = .error (.broken e) ∧ b.reason = e.reason := by
  obtain ⟨path, reason⟩ := b
  rw [brokenAt?]
  cases t.loadQuest p with
  | ok q => simp
  | error e => cases e <;> simp [@eq_comm _ p, @eq_comm _ reason]

theorem mem_brokenAmong_iff : b ∈ t.brokenAmong paths ↔
    b.path ∈ paths ∧ ∃ e, t.loadQuest b.path = .error (.broken e) ∧ b.reason = e.reason := by
  rw [brokenAmong, List.mem_filterMap]
  constructor
  · rintro ⟨p, hp, hbroken⟩
    obtain ⟨rfl, hload⟩ := brokenAt?_eq_some_iff.1 hbroken
    exact ⟨hp, hload⟩
  · rintro ⟨hp, hload⟩
    exact ⟨b.path, hp, brokenAt?_eq_some_iff.2 ⟨rfl, hload⟩⟩

/-- The files that hold a quest keep their order. -/
theorem pairwise_loadedAmong (hrises : paths.Pairwise Path.Before) :
    ((t.loadedAmong paths).filterMap (·.source)).Pairwise Path.Before := by
  rw [loadedAmong, List.filterMap_filterMap]
  refine hrises.filterMap _ ?_
  -- whatever is loaded from a file has that file as its source
  have hsource : ∀ p p', ((t.loadQuest p).toOption.bind (·.source)) = some p' → p' = p := by
    intro p p' hsome
    obtain ⟨q, hload, hq⟩ := Option.bind_eq_some_iff.1 hsome
    cases hresult : t.loadQuest p with
    | error e => simp [hresult, Except.toOption] at hload
    | ok q' =>
      simp only [hresult, Except.toOption, Option.some.injEq] at hload
      obtain rfl := hload
      rw [source_of_questIn hresult] at hq
      exact (Option.some.inj hq).symm
  intro p p' hbefore x hx y hy
  rw [hsource p x hx, hsource p' y hy]
  exact hbefore

/-- The files that hold none keep it too. -/
theorem pairwise_brokenAmong (hrises : paths.Pairwise Path.Before) :
    ((t.brokenAmong paths).map (·.path)).Pairwise Path.Before := by
  rw [brokenAmong, List.map_filterMap]
  refine hrises.filterMap _ ?_
  -- a broken file is told by its own path
  have hpath : ∀ p p', (t.brokenAt? p).map (·.path) = some p' → p' = p := by
    intro p p' hsome
    obtain ⟨b, hb, rfl⟩ := Option.map_eq_some_iff.1 hsome
    exact (brokenAt?_eq_some_iff.1 hb).1
  intro p p' hbefore x hx y hy
  rw [hpath p x hx, hpath p' y hy]
  exact hbefore

/-- Loading breaks down over a quest file just if the reader does. -/
theorem breakdownAt?_eq_none_iff (hload : t.loadQuest p = questIn p held) :
    t.breakdownAt? p = none ↔ ∀ fault, held = .error fault → fault.breakdown? p = none := by
  rw [breakdownAt?, hload]
  cases held with
  | ok document =>
    rw [questIn]
    cases Quest.ofDocument document (some p) <;> simp [Except.mapError]
  | error fault =>
    rw [questIn]
    cases hfault : fault.breakdown? p <;> simp [hfault]

/-- **The reader breaks down over no quest file** just if loading breaks down over none. -/
theorem allRead_iff (h : t.WellFormed) (hdir : t.directory .quests dir = .ok place)
    (hlisted : t.Listed place) (hall : t.AllFound dir place) : t.AllRead dir place ↔
      ∀ p ∈ t.questPathsBelow dir place, t.breakdownAt? p = none := by
  obtain ⟨hresolve, -⟩ := directory_eq_ok_iff.1 hdir
  constructor
  · intro hread p hp
    obtain ⟨held, hfile⟩ := (mem_questPathsBelow_iff h hlisted).1 hp
    refine (breakdownAt?_eq_none_iff (loadQuest_eq_questIn h hresolve hall hfile)).2 ?_
    rintro fault rfl
    exact hread p fault hfile
  · intro hnone p fault hfile
    have hp := hnone p ((mem_questPathsBelow_iff h hlisted).2 ⟨_, hfile⟩)
    exact (breakdownAt?_eq_none_iff (loadQuest_eq_questIn h hresolve hall hfile)).1 hp fault rfl

/-- What loading gives, once the quest files are found. -/
theorem loadQuests_of_questPaths (hpaths : t.questPaths dir = .ok paths)
    (hnone : ∀ p ∈ paths, t.breakdownAt? p = none) :
    t.loadQuests dir = ⟨.ok ⟨t.loadedAmong paths, t.brokenAmong paths⟩,
      loadEvents dir ⟨t.loadedAmong paths, t.brokenAmong paths⟩⟩ := by
  rw [loadQuests, hpaths]
  simp only [List.findSome?_eq_none_iff.2 hnone]

/-- Without quest files there is nothing to load. -/
theorem loadQuests_of_error {e : Failure} (hpaths : t.questPaths dir = .error e) :
    t.loadQuests dir = .quiet (.error e) := by
  rw [loadQuests, hpaths]

section

variable (h : t.WellFormed) (hdir : t.directory .quests dir = .ok place)
  (hlisted : t.Listed place) (hall : t.AllFound dir place)

include h hdir hlisted hall

/-- What is loaded are the quests in the files that hold one. -/
theorem mem_loadedAmong_questPathsBelow_iff : q ∈ t.loadedAmong (t.questPathsBelow dir place) ↔
    ∃ p held, t.IsQuestFile dir place p held ∧ questIn p held = .ok q := by
  obtain ⟨hresolve, -⟩ := directory_eq_ok_iff.1 hdir
  rw [mem_loadedAmong_iff]
  refine exists_congr fun p => ?_
  rw [mem_questPathsBelow_iff h hlisted]
  constructor
  · rintro ⟨⟨held, hfile⟩, hq⟩
    exact ⟨held, hfile, (loadQuest_eq_questIn h hresolve hall hfile).symm.trans hq⟩
  · rintro ⟨held, hfile, hq⟩
    exact ⟨⟨held, hfile⟩, (loadQuest_eq_questIn h hresolve hall hfile).trans hq⟩

/-- What is broken are the files that hold none. -/
theorem mem_brokenAmong_questPathsBelow_iff : b ∈ t.brokenAmong (t.questPathsBelow dir place) ↔
    ∃ held e, t.IsQuestFile dir place b.path held ∧
      questIn b.path held = .error (.broken e) ∧ b.reason = e.reason := by
  obtain ⟨hresolve, -⟩ := directory_eq_ok_iff.1 hdir
  rw [mem_brokenAmong_iff, mem_questPathsBelow_iff h hlisted]
  constructor
  · rintro ⟨⟨held, hfile⟩, e, he, hreason⟩
    exact ⟨held, e, hfile, (loadQuest_eq_questIn h hresolve hall hfile).symm.trans he, hreason⟩
  · rintro ⟨held, e, hfile, he, hreason⟩
    exact ⟨⟨held, hfile⟩, e, (loadQuest_eq_questIn h hresolve hall hfile).trans he, hreason⟩

/-- **Loading a directory** handles each quest file once, if everything below the directory is found
and can be looked up, and the reader breaks down over nothing. -/
theorem handles_of_found (hread : t.AllRead dir place) :
    ∃ loaded, (t.loadQuests dir).value = .ok loaded ∧ t.Handles dir place loaded := by
  have hrises : (t.questPathsBelow dir place).Pairwise Path.Before := pairwise_questPathsBelow h
  refine ⟨_, congrArg Logged.value (loadQuests_of_questPaths
    (questPaths_of_found h hdir hlisted hall) ((allRead_iff h hdir hlisted hall).1 hread)), ?_⟩
  exact {
    quests := fun q => mem_loadedAmong_questPathsBelow_iff h hdir hlisted hall
    sources := by
      intro q hq
      obtain ⟨p, held, hfile, hquest⟩ :=
        (mem_loadedAmong_questPathsBelow_iff h hdir hlisted hall).1 hq
      exact ⟨p, held, source_of_questIn hquest, hfile, hquest⟩
    broken := fun b => mem_brokenAmong_questPathsBelow_iff h hdir hlisted hall
    risingQuests := pairwise_loadedAmong hrises
    risingBroken := pairwise_brokenAmong hrises
    disjoint := by
      intro q hq b hb hsame
      obtain ⟨p, held, hfile, hquest⟩ :=
        (mem_loadedAmong_questPathsBelow_iff h hdir hlisted hall).1 hq
      obtain ⟨held', e, hfile', herror, -⟩ :=
        (mem_brokenAmong_questPathsBelow_iff h hdir hlisted hall).1 hb
      -- the same file cannot hold a quest and hold none
      rw [source_of_questIn hquest] at hsame
      obtain rfl := Option.some.inj hsame
      rw [hfile.held_eq hfile', herror] at hquest
      cases hquest }

end

end FileTree
end QuestFlow
